import DirectoryRecords.Conditions.Json
import Mathlib.Data.List.Basic

/-!
# Spellings — the JSON values that mean some conditions

    Conditions are read from several shapes, which are tried in turn: a
    string, an object with a member `entries`, and a bare list of pairs. Which
    shape a value was meant in is not written down, so the question is whether
    one shape can take a value away from another.

    None can. The values of each shape are described without the reader
    (`Spells`), and the reader finds exactly the conditions that a value
    spells (`ofHeldJson?_eq_some_iff`):

    * reading a list of pairs undoes writing it, as an object and as an array,
      whatever the names are (`pairsOfJson?_eq_some_iff`);
    * an object of strings has no list under `entries`, even where it has a
      member of this name, so it never counts as a grouped spelling
      (`groupedOfJson?_mapping`).

    That a value can be held in memory is asked before all this; the spellings
    made of texts alone always can.
-/

namespace DirectoryRecords

/-- Reading every element of a list undoes writing every element, if reading one undoes writing
    one. -/
theorem mapM_eq_some_iff_eq_map {α β : Type} {read : α → Option β} {write : β → α}
    (h : ∀ a b, read a = some b ↔ a = write b) {list : List α} {found : List β} :
    list.mapM read = some found ↔ list = found.map write := by
  induction list generalizing found with
  | nil => cases found <;> simp
  | cons a rest ih =>
      rw [List.mapM_cons]
      constructor
      · intro hread
        obtain ⟨b, hb, hread⟩ := Option.bind_eq_some_iff.mp hread
        obtain ⟨tail, htail, hread⟩ := Option.bind_eq_some_iff.mp hread
        rw [← Option.some.inj hread, List.map_cons, (h a b).mp hb, ih.mp htail]
      · intro hwritten
        cases found with
        | nil => exact nomatch hwritten
        | cons b tail =>
            obtain ⟨ha, hrest⟩ := List.cons.inj hwritten
            simp [(h a b).mpr ha, ih.mpr hrest]

namespace Json

/-- The only member of a name in an object. -/
def Only (name : Text) (value : Json) (members : List (Text × Json)) : Prop :=
  members.filter (·.1 == name) = [(name, value)]

/-- No member of an object has the name. -/
def Absent (name : Text) (members : List (Text × Json)) : Prop :=
  members.filter (·.1 == name) = []

theorem member?_eq_some_some_iff {name : Text} {value : Json} {members : List (Text × Json)} :
    member? name members = some (some value) ↔ Only name value members := by
  have hname : ∀ member ∈ members.filter (·.1 == name), member.1 = name := by
    intro member hmem
    exact eq_of_beq (List.mem_filter.mp hmem).2
  rw [member?, Only]
  generalize members.filter (·.1 == name) = held at hname ⊢
  match held with
  | [] => simp
  | [(other, found)] =>
      have hother : other = name := hname (other, found) List.mem_cons_self
      simp [hother]
  | _ :: _ :: _ => simp

theorem member?_eq_some_none_iff {name : Text} {members : List (Text × Json)} :
    member? name members = some none ↔ Absent name members := by
  rw [member?, Absent]
  generalize members.filter (·.1 == name) = held
  match held with
  | [] => simp
  | [_] => simp
  | _ :: _ :: _ => simp

/-- An array can be held if its items can, one level deeper. -/
theorem holdable_array {depth : Nat} {items : List Json}
    (h : ∀ item ∈ items, holdable depth item = true) :
    holdable (depth + 1) (.array items) = true := by
  have hall : allHoldable depth items = true := by
    induction items with
    | nil => rfl
    | cons item rest ih =>
        rw [allHoldable, h item List.mem_cons_self, Bool.true_and]
        exact ih fun other hother => h other (List.mem_cons_of_mem item hother)
  rw [holdable]
  simpa using hall

/-- An object can be held if the values of its members can, one level deeper. -/
theorem holdable_object {depth : Nat} {members : List (Text × Json)}
    (h : ∀ member ∈ members, holdable depth member.2 = true) :
    holdable (depth + 1) (.object members) = true := by
  have hall : allMembersHoldable depth members = true := by
    induction members with
    | nil => rfl
    | cons member rest ih =>
        rw [allMembersHoldable, h member List.mem_cons_self, Bool.true_and]
        exact ih fun other hother => h other (List.mem_cons_of_mem member hother)
  rw [holdable]
  simpa using hall

theorem holdable_strings (depth : Nat) (texts : List Text) :
    holdable (depth + 1) (strings texts) = true := by
  refine holdable_array fun item hitem => ?_
  obtain ⟨text, _, rfl⟩ := List.mem_map.mp hitem
  rfl

/-- The only member of a name is a member. -/
theorem Only.mem {name : Text} {value : Json} {members : List (Text × Json)}
    (h : Only name value members) : (name, value) ∈ members :=
  List.mem_of_mem_filter (p := (·.1 == name)) (h ▸ List.mem_cons_self)

end Json

/-! ## What is spelled -/

/-- The two ways to write a list of pairs: an object whose members are the pairs, and an array of
    arrays of two strings. -/
inductive PairStyle where
  | mapping
  | listing
  deriving DecidableEq, Repr

namespace PairStyle

/-- A pair as a member of an object. -/
def member (pair : Text × Text) : Text × Json :=
  (pair.1, .string pair.2)

/-- A pair as an array. -/
def item (pair : Text × Text) : Json :=
  .strings [pair.1, pair.2]

/-- A list of pairs, in order and with repeated names. -/
def write (style : PairStyle) (pairs : List (Text × Text)) : Json :=
  match style with
  | mapping => .object (pairs.map member)
  | listing => .array (pairs.map item)

/-- Pairs nest two deep at most. -/
theorem holdable_write (style : PairStyle) (pairs : List (Text × Text)) (depth : Nat) :
    (style.write pairs).holdable (depth + 2) = true := by
  cases style with
  | mapping =>
      refine Json.holdable_object fun held hheld => ?_
      obtain ⟨pair, _, rfl⟩ := List.mem_map.mp hheld
      rfl
  | listing =>
      refine Json.holdable_array fun held hheld => ?_
      obtain ⟨pair, _, rfl⟩ := List.mem_map.mp hheld
      exact Json.holdable_strings depth _

end PairStyle

open PairStyle (mapping listing member item)

/-- The ways to name an operator: a string, or an object with its name as the only key. -/
inductive Combine.Spells : Json → Combine → Prop where
  | string (combine : Combine) : Spells (.string combine.name) combine
  | object (combine : Combine) : Spells (.object [(combine.name, .null)]) combine

namespace Conditions

/-- The values that mean some conditions. Apart from `entries` and `combine`, which occur once at
    most, a grouped spelling may have any members, in any order. -/
inductive Spells : Json → Conditions → Prop where
  | text (expression : Text) : Spells (.string expression) (.text expression)
  | plain (style : PairStyle) (pairs : List (Text × Text)) :
      Spells (style.write pairs) (.pairs pairs .and)
  | grouped (style : PairStyle) (pairs : List (Text × Text)) {members : List (Text × Json)}
      (hentries : Json.Only "entries" (style.write pairs) members)
      (hcombine : Json.Absent "combine" members) : Spells (.object members) (.pairs pairs .and)
  | combined (style : PairStyle) (pairs : List (Text × Text)) {members : List (Text × Json)}
      {operator : Json} {combine : Combine} (hoperator : combine.Spells operator)
      (hentries : Json.Only "entries" (style.write pairs) members)
      (hcombine : Json.Only "combine" operator members) :
      Spells (.object members) (.pairs pairs combine)

/-! ## What is read -/

theorem pairOfMember?_eq_some_iff {held : Text × Json} {pair : Text × Text} :
    pairOfMember? held = some pair ↔ held = member pair := by
  obtain ⟨name, value⟩ := held
  obtain ⟨name', text⟩ := pair
  cases value <;> simp [pairOfMember?, member]

theorem pairOfItem?_eq_some_iff {held : Json} {pair : Text × Text} :
    pairOfItem? held = some pair ↔ held = item pair := by
  obtain ⟨name, text⟩ := pair
  rw [pairOfItem?.eq_def, item, Json.strings]
  split
  · simp
  · next hother =>
    simp only [List.map_cons, List.map_nil, reduceCtorEq, false_iff]
    exact hother name text

/-- **A list of pairs is read as it was written**, in either style, and nothing else is read as
    one. -/
theorem pairsOfJson?_eq_some_iff {json : Json} {pairs : List (Text × Text)} :
    pairsOfJson? json = some pairs ↔ ∃ style : PairStyle, json = style.write pairs := by
  constructor
  · intro h
    cases json with
    | object members =>
        have hmembers := (mapM_eq_some_iff_eq_map fun _ _ => pairOfMember?_eq_some_iff).mp h
        exact ⟨mapping, congrArg Json.object hmembers⟩
    | array items =>
        have hitems := (mapM_eq_some_iff_eq_map fun _ _ => pairOfItem?_eq_some_iff).mp h
        exact ⟨listing, congrArg Json.array hitems⟩
    | _ => exact nomatch h
  · rintro ⟨style, rfl⟩
    cases style with
    | mapping => exact (mapM_eq_some_iff_eq_map fun _ _ => pairOfMember?_eq_some_iff).mpr rfl
    | listing => exact (mapM_eq_some_iff_eq_map fun _ _ => pairOfItem?_eq_some_iff).mpr rfl

theorem ofName?_eq_some_iff {text : Text} {combine : Combine} :
    Combine.ofJson?.ofName? text = some combine ↔ text = combine.name := by
  rw [Combine.ofJson?.ofName?]
  constructor
  · intro h
    have hname := List.find?_some (p := (Combine.name · == text)) h
    exact (eq_of_beq hname).symm
  · rintro rfl
    cases combine <;> decide

theorem combine_eq_some_iff {json : Json} {combine : Combine} :
    Combine.ofJson? json = some combine ↔ combine.Spells json := by
  rw [Combine.ofJson?.eq_def]
  constructor
  · intro h
    split at h
    · rw [ofName?_eq_some_iff.mp h]
      exact .string combine
    · rw [ofName?_eq_some_iff.mp h]
      exact .object combine
    · exact nomatch h
  · rintro (_ | _)
    · exact ofName?_eq_some_iff.mpr rfl
    · exact ofName?_eq_some_iff.mpr rfl

/-- A list of pairs is neither a string nor any other single value. -/
theorem write_ne_string (style : PairStyle) (pairs : List (Text × Text)) (text : Text) :
    style.write pairs ≠ .string text := by
  cases style <;> exact Json.noConfusion

/-- A grouped reading has a list of pairs under `entries` and an operator under `combine`, which
    may be left out. -/
theorem groupedOfJson?_eq_some_iff {members : List (Text × Json)} {conditions : Conditions} :
    groupedOfJson? (.object members) = some conditions ↔
      ∃ (style : PairStyle) (pairs : List (Text × Text)) (combine : Combine),
        conditions = .pairs pairs combine ∧ Json.Only "entries" (style.write pairs) members ∧
        (Json.Absent "combine" members ∧ combine = .and ∨
          ∃ operator, combine.Spells operator ∧ Json.Only "combine" operator members) := by
  simp only [groupedOfJson?, Option.pure_def, Option.bind_eq_bind, Option.bind_eq_some_iff]
  constructor
  · rintro ⟨entries, hentries, operator, hoperator, pairs, hpairs, combine, hcombine, h⟩
    cases entries with
    | none => exact nomatch hpairs
    | some entries =>
        obtain ⟨style, rfl⟩ := pairsOfJson?_eq_some_iff.mp hpairs
        refine ⟨style, pairs, combine, (Option.some.inj h).symm,
          Json.member?_eq_some_some_iff.mp hentries, ?_⟩
        cases operator with
        | none =>
            exact .inl ⟨Json.member?_eq_some_none_iff.mp hoperator, (Option.some.inj hcombine).symm⟩
        | some operator =>
            exact .inr ⟨operator, combine_eq_some_iff.mp hcombine,
              Json.member?_eq_some_some_iff.mp hoperator⟩
  · rintro ⟨style, pairs, combine, rfl, hentries, hcombine⟩
    have hpairs : pairsOfJson? (style.write pairs) = some pairs :=
      pairsOfJson?_eq_some_iff.mpr ⟨style, rfl⟩
    refine ⟨_, Json.member?_eq_some_some_iff.mpr hentries, ?_⟩
    rcases hcombine with ⟨habsent, rfl⟩ | ⟨operator, hspells, honly⟩
    · exact ⟨_, Json.member?_eq_some_none_iff.mpr habsent, pairs, hpairs, .and, rfl, rfl⟩
    · exact ⟨_, Json.member?_eq_some_some_iff.mpr honly, pairs, hpairs, combine,
        combine_eq_some_iff.mpr hspells, rfl⟩

/-- **An object of strings is never a grouped spelling.** What it has under `entries`, if anything,
    is a string. -/
theorem groupedOfJson?_mapping (pairs : List (Text × Text)) :
    groupedOfJson? (mapping.write pairs) = none := by
  refine Option.eq_none_iff_forall_ne_some.mpr fun conditions h => ?_
  obtain ⟨style, listed, _, _, hentries, _⟩ := groupedOfJson?_eq_some_iff.mp h
  obtain ⟨pair, _, hpair⟩ := List.mem_map.mp hentries.mem
  exact write_ne_string style listed pair.2 (congrArg Prod.snd hpair).symm

/-- No bare list of pairs is a grouped spelling. -/
theorem groupedOfJson?_write (style : PairStyle) (pairs : List (Text × Text)) :
    groupedOfJson? (style.write pairs) = none := by
  cases style with
  | mapping => exact groupedOfJson?_mapping pairs
  | listing => rfl

/-- What is not a string is read as a grouped spelling, or else as a bare list of pairs. -/
theorem ofHeldJson?_of_ne_string {json : Json} (h : ∀ text, json ≠ .string text) :
    ofHeldJson? json
      = (groupedOfJson? json).orElse fun _ => (pairsOfJson? json).map (.pairs · .and) := by
  cases json with
  | string text => exact absurd rfl (h text)
  | _ => rfl

/-- **The reader finds what a value spells**, and so a value spells one thing at most. -/
theorem ofHeldJson?_eq_some_iff {json : Json} {conditions : Conditions} :
    ofHeldJson? json = some conditions ↔ Spells json conditions := by
  constructor
  · intro h
    by_cases hstring : ∃ text, json = .string text
    · obtain ⟨text, rfl⟩ := hstring
      rw [← Option.some.inj h]
      exact .text text
    · rw [ofHeldJson?_of_ne_string (not_exists.mp hstring)] at h
      cases hgrouped : groupedOfJson? json with
      | some grouped =>
          rw [hgrouped] at h
          obtain rfl : grouped = conditions := Option.some.inj h
          cases json with
          | object members =>
              obtain ⟨style, pairs, combine, rfl, hentries, hcombine⟩ :=
                groupedOfJson?_eq_some_iff.mp hgrouped
              rcases hcombine with ⟨habsent, rfl⟩ | ⟨operator, hspells, honly⟩
              · exact .grouped style pairs hentries habsent
              · exact .combined style pairs hspells hentries honly
          | _ => exact nomatch hgrouped
      | none =>
          rw [hgrouped] at h
          obtain ⟨pairs, hpairs, rfl⟩ := Option.map_eq_some_iff.mp h
          obtain ⟨style, rfl⟩ := pairsOfJson?_eq_some_iff.mp hpairs
          exact .plain style pairs
  · rintro (text | ⟨style, pairs⟩ | ⟨style, pairs, hentries, hcombine⟩ |
      ⟨style, pairs, hoperator, hentries, hcombine⟩)
    · rfl
    · rw [ofHeldJson?_of_ne_string (write_ne_string style pairs), groupedOfJson?_write,
        pairsOfJson?_eq_some_iff.mpr ⟨style, rfl⟩]
      rfl
    · have hgrouped := groupedOfJson?_eq_some_iff.mpr
        ⟨style, pairs, .and, rfl, hentries, .inl ⟨hcombine, rfl⟩⟩
      rw [ofHeldJson?_of_ne_string fun _ => Json.noConfusion, hgrouped]
      rfl
    · have hgrouped := groupedOfJson?_eq_some_iff.mpr
        ⟨style, pairs, _, rfl, hentries, .inr ⟨_, hoperator, hcombine⟩⟩
      rw [ofHeldJson?_of_ne_string fun _ => Json.noConfusion, hgrouped]
      rfl

/-- An object with the members of a grouped spelling, but with strings in them, is two pairs. -/
example : ofHeldJson? (.object [("entries", .string "x"), ("combine", .string "and")])
    = some (.pairs [("entries", "x"), ("combine", "and")] .and) := rfl

/-! ## Whole spellings -/

/-- The conditions of a value that can be held are those that it spells. -/
theorem ofJson?_eq_some_iff {json : Json} {conditions : Conditions} :
    ofJson? json = some conditions ↔
      json.holdable Json.depthLimit = true ∧ Spells json conditions := by
  rw [ofJson?]
  by_cases h : json.holdable Json.depthLimit = true
  · rw [if_pos h, ofHeldJson?_eq_some_iff]
    simp [h]
  · rw [if_neg h]
    simp [h]

/-- The object of a list of pairs and of an operator, in either order. -/
theorem ofJson?_combined (style : PairStyle) (pairs : List (Text × Text)) (combine : Combine) :
    ofJson? (.object [("entries".toList, style.write pairs),
        ("combine".toList, .string combine.name)]) = some (.pairs pairs combine) ∧
      ofJson? (.object [("combine".toList, .string combine.name),
        ("entries".toList, style.write pairs)]) = some (.pairs pairs combine) := by
  have hentries : (style.write pairs).holdable 126 = true := style.holdable_write pairs 124
  constructor
  · refine ofJson?_eq_some_iff.mpr ⟨Json.holdable_object ?_, ?_⟩
    · simpa using ⟨hentries, rfl⟩
    · exact .combined style pairs (.string combine) rfl rfl
  · refine ofJson?_eq_some_iff.mpr ⟨Json.holdable_object ?_, ?_⟩
    · simpa using ⟨rfl, hentries⟩
    · exact .combined style pairs (.string combine) rfl rfl

/-- **All spellings mean what they spell.** A value that can be held is read as some conditions
    exactly when it is one of their spellings. In particular, whatever the names and values of
    some pairs are, a bare list of them in either style means all of them, and so does an object
    with the list under `entries`; with an operator under `combine` the object means the pairs
    under this operator. A string is a free text, and conditions are read as they are written. -/
theorem ofJson?_spellings :
    (∀ json conditions, ofJson? json = some conditions ↔
      json.holdable Json.depthLimit = true ∧ Spells json conditions) ∧
    (∀ (style : PairStyle) (pairs : List (Text × Text)),
      ofJson? (style.write pairs) = some (.pairs pairs .and) ∧
      ofJson? (.object [("entries".toList, style.write pairs)]) = some (.pairs pairs .and)) ∧
    (∀ (style : PairStyle) (pairs : List (Text × Text)) (combine : Combine),
      ofJson? (.object [("entries".toList, style.write pairs),
        ("combine".toList, .string combine.name)]) = some (.pairs pairs combine) ∧
      ofJson? (.object [("combine".toList, .string combine.name),
        ("entries".toList, style.write pairs)]) = some (.pairs pairs combine)) ∧
    (∀ expression, ofJson? (.string expression) = some (.text expression)) ∧
    ∀ conditions : Conditions, ofJson? conditions.toJson = some conditions := by
  refine ⟨fun _ _ => ofJson?_eq_some_iff, ?_, ofJson?_combined, fun _ => rfl, ?_⟩
  · intro style pairs
    refine ⟨ofJson?_eq_some_iff.mpr ⟨style.holdable_write pairs 125, .plain style pairs⟩,
      ofJson?_eq_some_iff.mpr ⟨Json.holdable_object ?_, .grouped style pairs rfl rfl⟩⟩
    rw [List.forall_mem_singleton]
    exact style.holdable_write pairs 124
  · intro conditions
    cases conditions with
    | text expression => rfl
    | pairs entries combine => exact (ofJson?_combined listing entries combine).1

end Conditions

end DirectoryRecords
