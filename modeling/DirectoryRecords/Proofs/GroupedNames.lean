import DirectoryRecords.Proofs.RebuiltNames

/-!
# Grouped names — what reading a name makes of its pieces

    A name is read as its components, as its values in order, or as the first
    of them. All three go through the pairs of its pieces, one after the other,
    so they fail together, at the first piece without an equals sign
    (`split_eq_error_iff`).

    Where they succeed nothing is lost. Gathering inserts the pairs in order,
    and one more insertion puts its attribute at the end, if it is new, and its
    value at the end of the attribute's values. From this, by induction from
    the last pair, the attributes stand where they came first (`names_ofPairs`)
    and each of them has all of its values in order (`get?_ofPairs`).
-/

namespace DirectoryRecords

open Text

/-! ## Gathered pairs -/

namespace DnComponents

/-- The attributes in order. -/
def names (components : DnComponents) : List Text :=
  components.toList.map Prod.fst

/-- The values that pairs have for an attribute, in order. -/
def valuesOf (name : Text) (pairs : List (Text × Text)) : List Text :=
  (pairs.filter (·.1 == name)).map Prod.snd

theorem valuesOf_append (name : Text) (front back : List (Text × Text)) :
    valuesOf name (front ++ back) = valuesOf name front ++ valuesOf name back := by
  rw [valuesOf, List.filter_append, List.map_append]
  rfl

theorem valuesOf_singleton (name : Text) (pair : Text × Text) :
    valuesOf name [pair] = if name = pair.1 then [pair.2] else [] := by
  rw [valuesOf, List.filter_singleton]
  by_cases h : name = pair.1
  · rw [if_pos h, h, beq_self_eq_true]
    rfl
  · rw [if_neg h, beq_false_of_ne (Ne.symm h)]
    rfl

/-- The last pair is inserted last. -/
theorem ofPairs_concat (pairs : List (Text × Text)) (pair : Text × Text) :
    ofPairs (pairs ++ [pair]) = (ofPairs pairs).insert pair.1 pair.2 := by
  rw [ofPairs_append]
  rfl

theorem names_insert (components : DnComponents) (name value : Text) :
    (components.insert name value).names
      = if name ∈ components.names then components.names else components.names ++ [name] :=
  names_insertInto name value components.toList

/-- An attribute stands where it came first. -/
theorem names_ofPairs (pairs : List (Text × Text)) :
    (ofPairs pairs).names = (pairs.map Prod.fst).eraseDups := by
  induction pairs using List.reverseRecOn with
  | nil => rfl
  | append_singleton pairs last ih =>
      rw [ofPairs_concat, names_insert, ih, List.map_append, List.map_singleton, eraseDups_concat]
      simp only [List.mem_eraseDups]

/-- What a list of values is gathered into: nothing, one value, or a sequence. -/
def gathered? : List Text → Option Value
  | [] => none
  | [value] => some (.single value)
  | values => some (.multi values)

theorem gathered?_concat (values : List Text) (value : Text) :
    gathered? (values ++ [value])
      = some (((gathered? values).map (·.push value)).getD (.single value)) := by
  match values with
  | [] => rfl
  | [_] => rfl
  | _ :: _ :: _ => rfl

/-- An attribute has all of its values in order. -/
theorem get?_ofPairs (pairs : List (Text × Text)) (name : Text) :
    (ofPairs pairs).get? name = gathered? (valuesOf name pairs) := by
  induction pairs using List.reverseRecOn with
  | nil => rfl
  | append_singleton pairs last ih =>
      rw [ofPairs_concat, get?_insert, ih, valuesOf_append, valuesOf_singleton]
      by_cases h : name = last.1
      · rw [if_pos h, if_pos h, ← h, ih, gathered?_concat]
      · rw [if_neg h, if_neg h, List.append_nil]

/-- What components show of pairs: each attribute once, in the order in which they first come, with
    its value if it comes once and with the sequence of its values in order if it comes more
    often. -/
structure Gathers (components : DnComponents) (pairs : List (Text × Text)) : Prop where
  distinct : components.names.Nodup
  order : components.names = (pairs.map Prod.fst).eraseDups
  values : ∀ name, components.get? name = gathered? (valuesOf name pairs)

theorem gathers_ofPairs (pairs : List (Text × Text)) : (ofPairs pairs).Gathers pairs :=
  ⟨(grouped_ofPairs pairs).distinct, names_ofPairs pairs, get?_ofPairs pairs⟩

end DnComponents

/-! ## Pieces -/

namespace Dn

/-- The attribute and the value of a piece: what stands in front of its first equals sign and
    behind it, without surrounding blanks. -/
def Parts (piece : Text) (pair : Text × Text) : Prop :=
  ∃ left right, piece = left ++ '=' :: right ∧ '=' ∉ left ∧ pair = (trim left, trim right)

theorem isPiece_iff {piece : Text} {pair : Text × Text} :
    IsPiece piece pair ↔ Parts piece pair := by
  constructor
  · intro h
    obtain ⟨⟨left, right⟩, hcut, rfl⟩ := Option.map_eq_some_iff.mp h
    obtain ⟨rfl, hsign⟩ := eq_of_cut hcut
    exact ⟨left, right, rfl, hsign, rfl⟩
  · rintro ⟨left, right, rfl, hsign, rfl⟩
    rw [IsPiece, component?, cut_append hsign]
    rfl

theorem component?_eq_none_iff {piece : Text} : component? piece = none ↔ '=' ∉ piece := by
  rw [component?, Option.map_eq_none_iff, cut_eq_none_iff]

theorem componentOf_eq_error_iff {dn piece : Text} {e : Error} :
    componentOf dn piece = .error e ↔ '=' ∉ piece ∧ e = .malformedDn dn piece := by
  rw [componentOf, ← component?_eq_none_iff]
  cases component? piece with
  | none =>
      constructor
      · intro h
        exact ⟨rfl, (Except.error.inj h).symm⟩
      · rintro ⟨-, rfl⟩
        rfl
  | some pair =>
      constructor
      · intro h
        cases h
      · rintro ⟨hnone, -⟩
        cases hnone

theorem exists_componentOf_iff {dn piece : Text} :
    (∃ pair, componentOf dn piece = .ok pair) ↔ '=' ∈ piece := by
  rw [← not_iff_not, ← component?_eq_none_iff, componentOf]
  cases component? piece with
  | none => simp
  | some pair => simp

/-! ## Readings of a name -/

/-- A name has these pairs: none if it is blank, and else those of its pieces. -/
def HasPairs (dn : Text) (pairs : List (Text × Text)) : Prop :=
  if isAllBlank dn then pairs = [] else List.Forall₂ Parts (dn.splitOn ',') pairs

/-- A name that is not blank has this piece for the first one without an equals sign. -/
def Breaks (dn piece : Text) : Prop :=
  isAllBlank dn = false ∧
    ∃ front back, dn.splitOn ',' = front ++ piece :: back ∧ (∀ earlier ∈ front, '=' ∈ earlier) ∧
      '=' ∉ piece

theorem split_eq_ok_iff_hasPairs {dn : Text} {pairs : List (Text × Text)} :
    split dn = .ok pairs ↔ HasPairs dn pairs := by
  rw [HasPairs]
  by_cases hblank : isAllBlank dn = true
  · rw [if_pos hblank, split_of_blank hblank]
    exact ⟨fun h => (Except.ok.inj h).symm, fun h => congrArg _ h.symm⟩
  · rw [if_neg hblank, split_eq_ok_iff (Bool.eq_false_iff.mpr hblank)]
    exact ⟨List.Forall₂.imp fun _ _ => isPiece_iff.mp, List.Forall₂.imp fun _ _ => isPiece_iff.mpr⟩

/-- **A name is malformed for its first piece without an equals sign.** -/
theorem split_eq_error_iff {dn : Text} {e : Error} :
    split dn = .error e ↔ ∃ piece, Breaks dn piece ∧ e = .malformedDn dn piece := by
  by_cases hblank : isAllBlank dn = true
  · rw [split_of_blank hblank]
    refine ⟨nofun, ?_⟩
    rintro ⟨piece, ⟨hnot, -⟩, -⟩
    rw [hblank] at hnot
    exact nomatch hnot
  · have hsplit : split dn = (dn.splitOn ',').mapM (componentOf dn) := if_neg hblank
    rw [hsplit, Directory.mapM_eq_error_iff]
    simp only [exists_componentOf_iff, componentOf_eq_error_iff]
    constructor
    · rintro ⟨front, piece, back, hpieces, hfront, hsign, rfl⟩
      exact ⟨piece, ⟨Bool.eq_false_iff.mpr hblank, front, back, hpieces, hfront, hsign⟩, rfl⟩
    · rintro ⟨piece, ⟨-, front, back, hpieces, hfront, hsign⟩, rfl⟩
      exact ⟨front, piece, back, hpieces, hfront, hsign, rfl⟩

theorem values_of_split {dn : Text} {pairs : List (Text × Text)} (h : split dn = .ok pairs) :
    values dn = .ok (pairs.map Prod.snd) := by
  rw [values, h]
  rfl

/-- **Reading a name.** Where a piece of a name has no equals sign, its components, its values and
    its first value are refused alike, with the complaint about the first such piece. Otherwise
    its pieces have pairs of attribute and value, none if the name is blank: the components gather
    them without loss, the values are theirs in order, and the first value is refused only if
    there is none. -/
theorem parse_gathers (dn : Text) :
    (∃ piece, Breaks dn piece ∧
        parse dn = .error (.malformedDn dn piece) ∧
        values dn = .error (.malformedDn dn piece) ∧
        leafLabel dn = .error (.malformedDn dn piece)) ∨
      ∃ pairs components, HasPairs dn pairs ∧
        parse dn = .ok components ∧ components.Gathers pairs ∧
        values dn = .ok (pairs.map Prod.snd) ∧
        leafLabel dn = match pairs.map Prod.snd with
          | [] => .error (.malformedDn dn [])
          | label :: _ => .ok label := by
  cases hsplit : split dn with
  | error e =>
      obtain ⟨piece, hbreaks, rfl⟩ := split_eq_error_iff.mp hsplit
      have hvalues : values dn = .error (.malformedDn dn piece) := by
        rw [values, hsplit]
        rfl
      refine .inl ⟨piece, hbreaks, ?_, hvalues, ?_⟩
      · rw [parse, hsplit]
        rfl
      · rw [leafLabel, hvalues]
  | ok pairs =>
      have hvalues := values_of_split hsplit
      refine .inr ⟨pairs, .ofPairs pairs, split_eq_ok_iff_hasPairs.mp hsplit,
        parse_of_split hsplit, DnComponents.gathers_ofPairs pairs, hvalues, ?_⟩
      rw [leafLabel, hvalues]
      cases pairs.map Prod.snd with
      | nil => rfl
      | cons label rest => rfl

/-- The two units of a name stand under one attribute, apart from the one with another spelling. -/
example : parse " ou = b ,cn=x,ou=a=c,OU=" = .ok
    ⟨[("ou", .multi ["b", "a=c"]), ("cn", .single "x"), ("OU", .single [])]⟩ := by
  decide

end Dn

end DirectoryRecords
