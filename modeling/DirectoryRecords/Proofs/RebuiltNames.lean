import DirectoryRecords.Dn.Basic
import DirectoryRecords.Proofs.Cuts
import DirectoryRecords.Proofs.ReadBack
import DirectoryRecords.Proofs.Reading
import Mathlib.Data.List.Forall2

/-!
# Rebuilt names — a name that is built from components has these components

    Reading a name trims the components and gathers the values of a repeated
    attribute, so building one from what was read may put the components into
    another order. It is no other name for all that: it is read as the same
    components. There are two parts to this:

    * components that were gathered are `Grouped`, and gathering the pairs of
      grouped components gives them back (`ofPairs_pairs`). Since gathering
      goes on from what was gathered before, this stays so when further pairs
      follow, as those of a base do;
    * a pair that was read is trimmed and has no comma, and no equals sign in
      its attribute, so it is read again from its own text (`split_toText`);
      and a comma between two names puts their pairs one after the other
      (`split_comma`).
-/

namespace DirectoryRecords

open Text

theorem Value.Canonical.push {value : Value} (h : value.Canonical) (text : Text) :
    (value.push text).Canonical := by
  cases value with
  | single first => exact Nat.le_refl 2
  | multi texts =>
      show 2 ≤ (texts ++ [text]).length
      rw [List.length_append]
      exact Nat.le_trans h (Nat.le_add_right _ _)

namespace DnComponents

/-! ## Grouped components -/

/-- Every attribute stands in one place, and a sequence has at least two values. -/
structure Grouped (components : List (Text × Value)) : Prop where
  distinct : (components.map Prod.fst).Nodup
  canonical : ∀ component ∈ components, component.2.Canonical

/-- An insertion passes over the components of other attributes. -/
theorem insertInto_append {name : Text} {front : List (Text × Value)}
    (h : name ∉ front.map Prod.fst) (value : Text) (rest : List (Text × Value)) :
    insertInto name value (front ++ rest) = front ++ insertInto name value rest := by
  induction front with
  | nil => rfl
  | cons component front ih =>
      rw [List.map_cons, List.mem_cons, not_or] at h
      obtain ⟨hname, hfront⟩ := h
      rw [List.cons_append, insertInto, if_neg (Ne.symm hname), ih hfront]
      rfl

/-- What stands in a list after an insertion stood there before, has a value more than before, or
    is a single value of the attribute. -/
theorem mem_insertInto {name value : Text} {list : List (Text × Value)}
    {component : Text × Value} (h : component ∈ insertInto name value list) :
    component ∈ list ∨ (∃ held, (name, held) ∈ list ∧ component = (name, held.push value)) ∨
      component = (name, .single value) := by
  induction list with
  | nil => exact .inr (.inr (List.mem_singleton.mp h))
  | cons first rest ih =>
      obtain ⟨other, held⟩ := first
      rw [insertInto] at h
      by_cases hother : other = name
      · subst hother
        rw [if_pos rfl] at h
        rcases List.mem_cons.mp h with rfl | hmem
        · exact .inr (.inl ⟨held, List.mem_cons_self, rfl⟩)
        · exact .inl (List.mem_cons_of_mem _ hmem)
      · rw [if_neg hother] at h
        rcases List.mem_cons.mp h with rfl | hmem
        · exact .inl List.mem_cons_self
        · rcases ih hmem with hold | ⟨before, hbefore, rfl⟩ | rfl
          · exact .inl (List.mem_cons_of_mem _ hold)
          · exact .inr (.inl ⟨before, List.mem_cons_of_mem _ hbefore, rfl⟩)
          · exact .inr (.inr rfl)

/-- An insertion adds the attribute at the end, unless it is there. -/
theorem names_insertInto (name value : Text) (list : List (Text × Value)) :
    (insertInto name value list).map Prod.fst
      = if name ∈ list.map Prod.fst then list.map Prod.fst
        else list.map Prod.fst ++ [name] := by
  induction list with
  | nil => rfl
  | cons first rest ih =>
      obtain ⟨other, held⟩ := first
      rw [insertInto]
      by_cases hother : other = name
      · subst hother
        rw [if_pos rfl, List.map_cons, List.map_cons, if_pos List.mem_cons_self]
      · rw [if_neg hother, List.map_cons, ih, List.map_cons]
        simp only [List.mem_cons, Ne.symm hother, false_or]
        split
        · rfl
        · rfl

theorem Grouped.insertInto {list : List (Text × Value)} (h : Grouped list) (name value : Text) :
    Grouped (insertInto name value list) := by
  constructor
  · rw [names_insertInto]
    split
    · exact h.distinct
    · next hnew =>
      refine List.nodup_append.mpr ⟨h.distinct, List.pairwise_singleton _ name, ?_⟩
      intro other hother last hlast heq
      rw [heq, List.mem_singleton.mp hlast] at hother
      exact hnew hother
  · intro component hmem
    rcases mem_insertInto hmem with hold | ⟨held, hheld, rfl⟩ | rfl
    · exact h.canonical component hold
    · exact (h.canonical _ hheld).push value
    · trivial

/-- The components with further pairs inserted in order. -/
def insertAll (components : DnComponents) (pairs : List (Text × Text)) : DnComponents :=
  pairs.foldl (fun components (name, value) => components.insert name value) components

theorem ofPairs_append (front back : List (Text × Text)) :
    ofPairs (front ++ back) = (ofPairs front).insertAll back :=
  List.foldl_append

theorem insertAll_append (components : DnComponents) (front back : List (Text × Text)) :
    components.insertAll (front ++ back) = (components.insertAll front).insertAll back :=
  List.foldl_append

theorem Grouped.insertAll {components : DnComponents} (h : Grouped components.toList)
    (pairs : List (Text × Text)) : Grouped (components.insertAll pairs).toList := by
  induction pairs generalizing components with
  | nil => exact h
  | cons pair rest ih =>
      have hfirst : Grouped (components.insert pair.1 pair.2).toList := h.insertInto _ _
      exact ih hfirst

/-- **Components that were gathered are grouped.** -/
theorem grouped_ofPairs (pairs : List (Text × Text)) : Grouped (ofPairs pairs).toList := by
  have hnone : Grouped (∅ : DnComponents).toList :=
    ⟨List.nodup_nil, fun component hmem => nomatch hmem⟩
  exact hnone.insertAll pairs

/-- Further values of the last attribute go to its values one by one. -/
theorem insertAll_values {name : Text} {front : List (Text × Value)}
    (h : name ∉ front.map Prod.fst) (values : List Text) (held : Value) :
    insertAll ⟨front ++ [(name, held)]⟩ (values.map (name, ·))
      = ⟨front ++ [(name, values.foldl Value.push held)]⟩ := by
  induction values generalizing held with
  | nil => rfl
  | cons value rest ih =>
      have hinsert : insertInto name value (front ++ [(name, held)])
          = front ++ [(name, held.push value)] := by
        rw [insertInto_append h, insertInto, if_pos rfl]
      rw [List.foldl_cons, ← ih (held.push value), ← hinsert]
      rfl

theorem foldl_push_multi (values texts : List Text) :
    values.foldl Value.push (.multi texts) = .multi (texts ++ values) := by
  induction values generalizing texts with
  | nil => rw [List.append_nil]; rfl
  | cons value rest ih =>
      show rest.foldl Value.push (.multi (texts ++ [value])) = .multi (texts ++ value :: rest)
      rw [ih, List.append_assoc]
      rfl

/-- Inserting the values of a new attribute puts its component at the end. -/
theorem insertAll_component {component : Text × Value} {front : List (Text × Value)}
    (hnew : component.1 ∉ front.map Prod.fst) (h : component.2.Canonical) :
    insertAll ⟨front⟩ (component.2.toList.map (component.1, ·)) = ⟨front ++ [component]⟩ := by
  obtain ⟨name, value⟩ := component
  have hfirst (first : Text) (rest : List Text) :
      insertAll ⟨front⟩ ((first :: rest).map (name, ·))
        = ⟨front ++ [(name, rest.foldl Value.push (.single first))]⟩ := by
    have hinsert := insertInto_append hnew first []
    rw [List.append_nil] at hinsert
    rw [← insertAll_values hnew]
    show insertAll ⟨insertInto name first front⟩ (rest.map (name, ·)) = _
    rw [hinsert]
    rfl
  cases value with
  | single text => exact hfirst text []
  | multi texts =>
      match texts, h with
      | first :: second :: rest, _ =>
          show insertAll ⟨front⟩ ((first :: second :: rest).map (name, ·)) = _
          rw [hfirst, List.foldl_cons]
          exact congrArg (fun value => (⟨front ++ [(name, value)]⟩ : DnComponents))
            (foldl_push_multi rest [first, second])

theorem insertAll_pairs {front list : List (Text × Value)} (h : Grouped (front ++ list)) :
    insertAll ⟨front⟩ (pairs ⟨list⟩) = ⟨front ++ list⟩ := by
  induction list generalizing front with
  | nil => rw [List.append_nil]; rfl
  | cons component rest ih =>
      have hpairs : pairs ⟨component :: rest⟩
          = component.2.toList.map (component.1, ·) ++ pairs ⟨rest⟩ := rfl
      have hnew : component.1 ∉ front.map Prod.fst := by
        have hdistinct := h.distinct
        rw [List.map_append, List.map_cons] at hdistinct
        exact fun hmem => (List.nodup_append.mp hdistinct).2.2 _ hmem _ List.mem_cons_self rfl
      have hcanonical : component.2.Canonical :=
        h.canonical component (List.mem_append_right front List.mem_cons_self)
      rw [List.append_cons] at h ⊢
      rw [hpairs, insertAll_append, insertAll_component hnew hcanonical, ih h]

/-- **Gathering the pairs of grouped components gives them back.** -/
theorem ofPairs_pairs {components : DnComponents} (h : Grouped components.toList) :
    ofPairs components.pairs = components := by
  have hall : Grouped ([] ++ components.toList) := h
  exact insertAll_pairs hall

/-- A value of a component with a value more is one that it had, or the new one. -/
theorem mem_pairs_insert {components : DnComponents} {name value : Text} {pair : Text × Text}
    (h : pair ∈ (components.insert name value).pairs) :
    pair ∈ components.pairs ∨ pair = (name, value) := by
  obtain ⟨component, hcomponent, hpair⟩ := List.mem_flatMap.mp h
  rcases mem_insertInto hcomponent with hold | ⟨held, hheld, rfl⟩ | rfl
  · exact .inl (List.mem_flatMap.mpr ⟨component, hold, hpair⟩)
  · have hvalues : pair ∈ held.toList.map (name, ·) ++ [(name, value)] := by
      have happend : (held.push value).toList.map (name, ·) = _ := List.map_append
      rw [show [(name, value)] = [value].map (name, ·) from rfl, ← happend]
      exact hpair
    rcases List.mem_append.mp hvalues with hpair | hpair
    · exact .inl (List.mem_flatMap.mpr ⟨(name, held), hheld, hpair⟩)
    · exact .inr (List.mem_singleton.mp hpair)
  · exact .inr (List.mem_singleton.mp hpair)

/-- Gathering makes no pairs of its own. -/
theorem mem_of_mem_pairs_ofPairs {pairs : List (Text × Text)} {pair : Text × Text}
    (h : pair ∈ (ofPairs pairs).pairs) : pair ∈ pairs := by
  induction pairs using List.reverseRecOn with
  | nil => exact h
  | append_singleton front last ih =>
      rw [ofPairs_append] at h
      rcases mem_pairs_insert h with hold | rfl
      · exact List.mem_append_left _ (ih hold)
      · exact List.mem_append_right _ List.mem_cons_self

/-- Where there are components, there were pairs. -/
theorem ne_nil_of_isEmpty {pairs : List (Text × Text)} (h : (ofPairs pairs).isEmpty = false) :
    pairs ≠ [] := by
  rintro rfl
  exact nomatch h

end DnComponents

namespace Dn

/-! ## The pairs of a name -/

/-- The piece of a name has an attribute and a value. -/
def IsPiece (piece : Text) (pair : Text × Text) : Prop :=
  component? piece = some pair

/-- The pair of a piece, or the complaint about it. -/
def componentOf (dn piece : Text) : Except Error (Text × Text) :=
  match component? piece with
  | some pair => .ok pair
  | none => .error (.malformedDn dn piece)

theorem componentOf_eq_ok_iff {dn piece : Text} {pair : Text × Text} :
    componentOf dn piece = .ok pair ↔ IsPiece piece pair := by
  rw [componentOf, IsPiece]
  cases component? piece with
  | none => exact ⟨nofun, nofun⟩
  | some found => exact ⟨fun h => congrArg some (Except.ok.inj h),
      fun h => congrArg Except.ok (Option.some.inj h)⟩

theorem split_of_blank {dn : Text} (h : isAllBlank dn = true) : split dn = .ok [] :=
  if_pos h

/-- A name that is not blank has these pairs if and only if its pieces have them one by one. -/
theorem split_eq_ok_iff {dn : Text} (h : isAllBlank dn = false) {pairs : List (Text × Text)} :
    split dn = .ok pairs ↔ List.Forall₂ IsPiece (dn.splitOn ',') pairs := by
  have hsplit : split dn = (dn.splitOn ',').mapM (componentOf dn) :=
    if_neg (by rw [h]; exact Bool.false_ne_true)
  rw [hsplit, Directory.mapM_eq_ok_iff_forall₂]
  simp only [componentOf_eq_ok_iff]

/-- A name with pairs is not blank. -/
theorem not_blank_of_split {dn : Text} {pairs : List (Text × Text)} (h : split dn = .ok pairs)
    (hpairs : pairs ≠ []) : isAllBlank dn = false := by
  refine Bool.eq_false_iff.mpr fun hblank => hpairs ?_
  rw [split_of_blank hblank] at h
  exact (Except.ok.inj h).symm

/-- **A comma between two names puts their pairs one after the other.** -/
theorem split_comma {left right : Text} {front back : List (Text × Text)}
    (hleft : split left = .ok front) (hright : split right = .ok back) (hfront : front ≠ [])
    (hback : back ≠ []) : split (left ++ ',' :: right) = .ok (front ++ back) := by
  have hl := not_blank_of_split hleft hfront
  have hr := not_blank_of_split hright hback
  have hboth : isAllBlank (left ++ ',' :: right) = false := by
    rw [isAllBlank, List.all_append, show left.all isBlank = false from hl, Bool.false_and]
  rw [split_eq_ok_iff hl] at hleft
  rw [split_eq_ok_iff hr] at hright
  rw [split_eq_ok_iff hboth, List.splitOn_append_cons_self]
  exact List.rel_append hleft hright

/-! ## Pairs as text -/

/-- Attribute and value as they come out of a name: trimmed, and without the signs that part
    them. -/
structure Clean (pair : Text × Text) : Prop where
  nameComma : ',' ∉ pair.1
  nameSign : '=' ∉ pair.1
  nameEnds : Unpadded pair.1
  valueComma : ',' ∉ pair.2
  valueEnds : Unpadded pair.2

/-- The text of a pair. -/
def pairText (pair : Text × Text) : Text :=
  pair.1 ++ '=' :: pair.2

theorem clean_of_isPiece {piece : Text} {pair : Text × Text} (h : IsPiece piece pair)
    (hcomma : ',' ∉ piece) : Clean pair := by
  obtain ⟨⟨name, value⟩, hcut, rfl⟩ := Option.map_eq_some_iff.mp h
  obtain ⟨rfl, hsign⟩ := eq_of_cut hcut
  rw [List.mem_append, List.mem_cons, not_or, not_or] at hcomma
  obtain ⟨hname, _, hvalue⟩ := hcomma
  exact ⟨fun hmem => hname (mem_of_mem_trim hmem), fun hmem => hsign (mem_of_mem_trim hmem),
    unpadded_trim name, fun hmem => hvalue (mem_of_mem_trim hmem), unpadded_trim value⟩

theorem Clean.isPiece {pair : Text × Text} (h : Clean pair) : IsPiece (pairText pair) pair := by
  rw [IsPiece, component?, pairText, cut_append h.nameSign]
  show some (trim pair.1, trim pair.2) = some pair
  rw [trim_of_unpadded h.nameEnds, trim_of_unpadded h.valueEnds]

theorem Clean.comma {pair : Text × Text} (h : Clean pair) : ',' ∉ pairText pair := by
  rw [pairText, List.mem_append, List.mem_cons]
  rintro (hname | hsign | hvalue)
  · exact h.nameComma hname
  · exact absurd hsign (by decide)
  · exact h.valueComma hvalue

/-- The pairs of a name are clean. -/
theorem clean_of_split {dn : Text} {pairs : List (Text × Text)} (h : split dn = .ok pairs) :
    ∀ pair ∈ pairs, Clean pair := by
  by_cases hblank : isAllBlank dn = true
  · rw [split_of_blank hblank] at h
    obtain rfl := Except.ok.inj h
    exact fun pair hpair => nomatch hpair
  · rw [split_eq_ok_iff (Bool.eq_false_iff.mpr hblank)] at h
    have hcomma : ∀ piece ∈ dn.splitOn ',', ',' ∉ piece := fun _ => not_mem_of_mem_splitOn
    generalize dn.splitOn ',' = pieces at h hcomma
    induction h with
    | nil => exact fun pair hpair => nomatch hpair
    | cons hpiece _ ih =>
        obtain ⟨hfirst, hrest⟩ := List.forall_mem_cons.mp hcomma
        exact List.forall_mem_cons.mpr ⟨clean_of_isPiece hpiece hfirst, ih hrest⟩

/-- The pieces of clean pairs with commas between them are their texts. -/
theorem splitOn_joinWith {pairs : List (Text × Text)} (h : ∀ pair ∈ pairs, Clean pair)
    (hne : pairs ≠ []) :
    (joinWith ',' (pairs.map pairText)).splitOn ',' = pairs.map pairText := by
  refine List.splitOn_intercalate ',' ?_ ?_
  · intro piece hpiece
    obtain ⟨pair, hpair, rfl⟩ := List.mem_map.mp hpiece
    exact (h pair hpair).comma
  · exact fun hnil => hne (List.map_eq_nil_iff.mp hnil)

/-- Each of them has its equals sign, so what is joined is not blank. -/
theorem not_blank_joinWith {pairs : List (Text × Text)} (h : ∀ pair ∈ pairs, Clean pair)
    (hne : pairs ≠ []) : isAllBlank (joinWith ',' (pairs.map pairText)) = false := by
  obtain ⟨pair, hpair⟩ := List.exists_mem_of_ne_nil pairs hne
  have hpiece : pairText pair ∈ (joinWith ',' (pairs.map pairText)).splitOn ',' := by
    rw [splitOn_joinWith h hne]
    exact List.mem_map_of_mem hpair
  have hsign : '=' ∈ joinWith ',' (pairs.map pairText) :=
    mem_of_mem_splitOn hpiece '=' (List.mem_append_right pair.1 List.mem_cons_self)
  exact List.all_eq_false.mpr ⟨'=', hsign, by decide⟩

/-- Clean pairs are read again from their texts with commas between them. -/
theorem split_joinWith {pairs : List (Text × Text)} (h : ∀ pair ∈ pairs, Clean pair) :
    split (joinWith ',' (pairs.map pairText)) = .ok pairs := by
  by_cases hne : pairs = []
  · rw [hne]
    rfl
  · rw [split_eq_ok_iff (not_blank_joinWith h hne), splitOn_joinWith h hne,
      List.forall₂_map_left_iff, List.forall₂_same]
    exact fun pair hpair => (h pair hpair).isPiece

/-! ## Building and reading -/

theorem parse_of_split {dn : Text} {pairs : List (Text × Text)} (h : split dn = .ok pairs) :
    parse dn = .ok (.ofPairs pairs) := by
  rw [parse, h]
  rfl

theorem exists_of_parse {dn : Text} {components : DnComponents}
    (h : parse dn = .ok components) :
    ∃ pairs, split dn = .ok pairs ∧ components = .ofPairs pairs := by
  obtain ⟨pairs, hsplit, hpairs⟩ := Directory.exists_ok_of_map h
  exact ⟨pairs, hsplit, hpairs.symm⟩

/-- The text of components that were read has their pairs. -/
theorem split_toText {dn : Text} {pairs : List (Text × Text)} (h : split dn = .ok pairs) :
    split (DnComponents.ofPairs pairs).toText = .ok (DnComponents.ofPairs pairs).pairs := by
  have hclean : ∀ pair ∈ (DnComponents.ofPairs pairs).pairs, Clean pair :=
    fun pair hpair => clean_of_split h pair (DnComponents.mem_of_mem_pairs_ofPairs hpair)
  exact split_joinWith hclean

theorem below_nil (relative : Text) : below [] relative = relative := by
  cases relative with
  | nil => rfl
  | cons c rest => rfl

/-- Where name and base have components, the name below the base is the two with a comma between
    them. -/
theorem below_of_split {base relative : Text} {front back : List (Text × Text)}
    (hrelative : split relative = .ok front) (hbase : split base = .ok back)
    (hfront : front ≠ []) (hback : back ≠ []) :
    below base relative = relative ++ ',' :: base := by
  have hnonempty {text : Text} (h : isAllBlank text = false) : text.isEmpty = false := by
    cases text with
    | nil => exact nomatch h
    | cons c rest => rfl
  rw [below, hnonempty (not_blank_of_split hrelative hfront),
    hnonempty (not_blank_of_split hbase hback)]
  rfl

/-- **A name that is built from the components of a name is read as these components**, and below
    a base that has components as the two names with a comma between them. -/
theorem parse_rebuilt {dn : Text} {components : DnComponents}
    (h : parse dn = .ok components) :
    parse (below [] components.toText) = .ok components ∧
      ∀ base above, parse base = .ok above → components.isEmpty = false → above.isEmpty = false →
        ∃ joined, parse (below base components.toText) = .ok joined ∧
          parse (dn ++ ',' :: base) = .ok joined := by
  obtain ⟨pairs, hsplit, rfl⟩ := exists_of_parse h
  have htext := split_toText hsplit
  have hgather : DnComponents.ofPairs (DnComponents.ofPairs pairs).pairs = .ofPairs pairs :=
    DnComponents.ofPairs_pairs (DnComponents.grouped_ofPairs pairs)
  constructor
  · rw [below_nil, parse_of_split htext, hgather]
  · intro base above hbase hsome hbaseSome
    obtain ⟨back, hback, rfl⟩ := exists_of_parse hbase
    have hpairs : pairs ≠ [] := DnComponents.ne_nil_of_isEmpty hsome
    have hrebuilt : (DnComponents.ofPairs pairs).pairs ≠ [] := by
      refine DnComponents.ne_nil_of_isEmpty ?_
      rw [hgather]
      exact hsome
    have hbackNe : back ≠ [] := DnComponents.ne_nil_of_isEmpty hbaseSome
    refine ⟨.ofPairs (pairs ++ back), ?_, parse_of_split (split_comma hsplit hback hpairs hbackNe)⟩
    rw [below_of_split htext hback hrebuilt hbackNe,
      parse_of_split (split_comma htext hback hrebuilt hbackNe)]
    -- The base goes on with what the components of the name have gathered.
    rw [DnComponents.ofPairs_append, hgather, DnComponents.ofPairs_append]

/-- A name with its two units apart from each other and an equals sign in a value, below a base
    that has a unit too. -/
theorem parse_rebuilt_apart :
    let dn : Text := " ou = b ,cn=x, ou=a=c"
    let base : Text := "ou=z,dc=x"
    let components : DnComponents :=
      ⟨[("ou", .multi ["b", "a=c"]), ("cn", .single "x")]⟩
    let above : DnComponents := ⟨[("ou", .single "z"), ("dc", .single "x")]⟩
    parse dn = .ok components ∧ parse base = .ok above ∧ components.isEmpty = false ∧
      above.isEmpty = false ∧ parse (below [] components.toText) = .ok components ∧
      ∃ joined, parse (below base components.toText) = .ok joined ∧
        parse (dn ++ ',' :: base) = .ok joined := by
  intro dn base components above
  have hname : parse dn = .ok components := by decide
  have hbase : parse base = .ok above := by decide
  obtain ⟨halone, hbelow⟩ := parse_rebuilt hname
  exact ⟨hname, hbase, rfl, rfl, halone, hbelow base above hbase rfl rfl⟩

end Dn

end DirectoryRecords
