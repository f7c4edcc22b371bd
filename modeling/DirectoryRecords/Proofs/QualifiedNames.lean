import DirectoryRecords.Ldap.Settings
import DirectoryRecords.Proofs.LetterCase
import DirectoryRecords.Proofs.RebuiltNames

/-!
# Qualified names — by their pieces rather than by their components

    A name is left alone if it ends with the base already, and gets the base
    put behind it otherwise. Ending with the base is decided on the text: the
    name is the base, or the base stands behind a comma at its end. In other
    words the pieces of the base are the last pieces of the name
    (`Dn.endsAs_iff`).

    Reading a name trims its pieces on both sides of the equals sign. So the
    components of a base are the last ones of a name wherever its pieces are,
    and also where only the blanks within them differ
    (`Dn.under_of_endsAs`, `Dn.endsAs_of_tight`). A name of the latter kind is
    below the base and is not left alone.

    Whatever the name, the outcome is one of two (`qualify_cases`), both of
    them trimmed and with the base at their end. So qualifying again finds the
    base and changes nothing.
-/

namespace DirectoryRecords

open Text

namespace Dn

/-! ## Components and pieces -/

/-- A name that is not blank has these components if and only if they come out of its pieces. -/
theorem split_eq_ok_iff_map {dn : Text} (h : isAllBlank dn = false) {pairs : List (Text × Text)} :
    split dn = .ok pairs ↔ (dn.splitOn ',').map component? = pairs.map some := by
  rw [split_eq_ok_iff h, ← List.forall₂_eq_eq_eq, List.forall₂_map_left_iff,
    List.forall₂_map_right_iff]
  rfl

/-- White space around a piece is none of its component. -/
theorem component?_padded {front back : Text} (hfront : isAllBlank front = true)
    (hback : isAllBlank back = true) (piece : Text) :
    component? (front ++ (piece ++ back)) = component? piece := by
  have hsign {text : Text} (h : isAllBlank text = true) : '=' ∉ text :=
    not_mem_of_isAllBlank h (by decide)
  rw [component?, component?]
  cases hcut : cut '=' piece with
  | none =>
      rw [cut_eq_none_iff] at hcut
      have hnone : cut '=' (front ++ (piece ++ back)) = none := by
        rw [cut_eq_none_iff, List.mem_append, List.mem_append]
        rintro (hmem | hmem | hmem)
        · exact hsign hfront hmem
        · exact hcut hmem
        · exact hsign hback hmem
      rw [hnone]
  | some sides =>
      obtain ⟨name, value⟩ := sides
      obtain ⟨rfl, hname⟩ := eq_of_cut hcut
      have hparts : front ++ (name ++ '=' :: value ++ back)
          = (front ++ name) ++ '=' :: (value ++ back) := by
        simp only [List.append_assoc, List.cons_append]
      have hleft : '=' ∉ front ++ name := by
        rw [List.mem_append, not_or]
        exact ⟨hsign hfront, hname⟩
      have hn := trim_padded hfront (show isAllBlank [] = true from rfl) name
      have hv := trim_padded (show isAllBlank [] = true from rfl) hback value
      rw [List.append_nil] at hn
      rw [List.nil_append] at hv
      rw [hparts, cut_append hleft]
      show some (trim (front ++ name), trim (value ++ back)) = some (trim name, trim value)
      rw [hn, hv]

/-- White space around a name goes to its first and its last piece. -/
theorem map_component?_padded {front back : Text} (hfront : isAllBlank front = true)
    (hback : isAllBlank back = true) (dn : Text) :
    ((front ++ (dn ++ back)).splitOn ',').map component? = (dn.splitOn ',').map component? := by
  have hcomma {text : Text} (h : isAllBlank text = true) : ',' ∉ text :=
    not_mem_of_isAllBlank h (by decide)
  have hnone : isAllBlank [] = true := rfl
  have hend : ((dn ++ back).splitOn ',').map component? = (dn.splitOn ',').map component? := by
    obtain ⟨pieces, last, hdn, hboth⟩ := exists_splitOn_append (hcomma hback) dn
    have hlast := component?_padded hnone hback last
    rw [List.nil_append] at hlast
    rw [hdn, hboth, List.map_append, List.map_append, List.map_singleton, List.map_singleton, hlast]
  rw [splitOn_append_of_not_mem (hcomma hfront), ← hend]
  cases (dn ++ back).splitOn ',' with
  | nil => rfl
  | cons piece pieces =>
      have hfirst := component?_padded hfront hnone piece
      rw [List.append_nil] at hfirst
      exact congrArg (· :: pieces.map component?) hfirst

/-- A name has the same components without the white space around it. -/
theorem split_trim {dn : Text} {pairs : List (Text × Text)} (h : split dn = .ok pairs) :
    split (trim dn) = .ok pairs := by
  by_cases hblank : isAllBlank dn = true
  · rw [isAllBlank_iff_trim_eq_nil.mp hblank]
    rw [split_of_blank hblank] at h
    exact h
  · have htrimmed : isAllBlank (trim dn) = false := by
      rw [Bool.eq_false_iff, ne_eq, isAllBlank_iff_trim_eq_nil, trim_trim,
        ← isAllBlank_iff_trim_eq_nil]
      exact hblank
    obtain ⟨front, back, hfront, hback, hdn⟩ := exists_padding dn
    rw [split_eq_ok_iff_map (Bool.eq_false_iff.mpr hblank)] at h
    rw [split_eq_ok_iff_map htrimmed, ← map_component?_padded hfront hback, ← hdn]
    exact h

theorem ne_nil_of_split {dn : Text} {pairs : List (Text × Text)} (h : split dn = .ok pairs)
    (hblank : isAllBlank dn = false) : pairs ≠ [] := by
  rintro rfl
  rw [split_eq_ok_iff_map hblank] at h
  exact List.splitOn_ne_nil ',' dn (List.map_eq_nil_iff.mp h)

/-! ## Letter case -/

/-- A component without its ASCII letter case. -/
def lowered (pair : Text × Text) : Text × Text :=
  (asciiLower pair.1, asciiLower pair.2)

theorem component?_asciiLower (piece : Text) :
    component? (asciiLower piece) = (component? piece).map lowered := by
  rw [component?, component?, cut_asciiLower (by decide), Option.map_map, Option.map_map]
  refine congrArg (Option.map · (cut '=' piece)) (funext fun sides => ?_)
  exact congrArg₂ Prod.mk (trim_asciiLower sides.1) (trim_asciiLower sides.2)

theorem asciiLower_pairText (pair : Text × Text) :
    asciiLower (pairText pair) = pairText (lowered pair) := by
  have happend : asciiLower (pairText pair) = asciiLower pair.1 ++ asciiLower ('=' :: pair.2) :=
    List.map_append
  rw [happend, (by decide : Caseless '=').asciiLower_cons]
  rfl

/-- The pieces of a name without their ASCII letter case. -/
def loweredPieces (dn : Text) : List Text :=
  (dn.splitOn ',').map asciiLower

theorem map_component?_loweredPieces {dn : Text} {pairs : List (Text × Text)}
    (h : split dn = .ok pairs) (hne : pairs ≠ []) :
    (loweredPieces dn).map component? = (pairs.map lowered).map some := by
  rw [split_eq_ok_iff_map (not_blank_of_split h hne)] at h
  have hlower : component? ∘ asciiLower = Option.map lowered ∘ component? :=
    funext component?_asciiLower
  rw [loweredPieces, List.map_map, hlower, ← List.map_map, h, List.map_map, List.map_map]
  rfl

/-! ## Names below a base -/

/-- The components of a base are the last ones of a name, but for ASCII letter case. -/
def Under (above pairs : List (Text × Text)) : Prop :=
  above.map lowered <:+ pairs.map lowered

instance (above pairs : List (Text × Text)) : Decidable (Under above pairs) :=
  inferInstanceAs (Decidable (_ <:+ _))

/-- The pieces of a base are the last ones of a name as they are written, blanks included, but for
    ASCII letter case. -/
def EndsAs (base dn : Text) : Prop :=
  loweredPieces base <:+ loweredPieces dn

instance (base dn : Text) : Decidable (EndsAs base dn) :=
  inferInstanceAs (Decidable (_ <:+ _))

/-- A name is written as its components with the signs between them, and has blanks at its ends
    at most. -/
def Tight (dn : Text) (pairs : List (Text × Text)) : Prop :=
  trim dn = joinWith ',' (pairs.map pairText)

instance (dn : Text) (pairs : List (Text × Text)) : Decidable (Tight dn pairs) :=
  inferInstanceAs (Decidable (_ = _))

section

variable {base dn : Text} {above pairs : List (Text × Text)}

/-- The pieces of the base are the last ones of a name if the name is the base or its end behind a
    comma is. -/
theorem endsAs_iff :
    EndsAs base dn ↔ asciiLower dn = asciiLower base ∨ ',' :: asciiLower base <:+ asciiLower dn := by
  have hcomma : Caseless ',' := by decide
  rw [EndsAs, loweredPieces, loweredPieces, ← splitOn_asciiLower hcomma,
    ← splitOn_asciiLower hcomma, splitOn_suffix_iff]

theorem suffix_of_endsAs (h : EndsAs base dn) : asciiLower base <:+ asciiLower dn := by
  rcases endsAs_iff.mp h with hsame | hends
  · rw [hsame]
  · exact (List.suffix_cons _ _).trans hends

/-- A name that ends as a base that is not blank is not blank either. -/
theorem not_blank_of_endsAs (h : EndsAs base dn) (hbase : isAllBlank base = false) :
    isAllBlank dn = false := by
  rw [← isAllBlank_asciiLower] at hbase ⊢
  obtain ⟨c, hc, hblank⟩ := List.all_eq_false.mp hbase
  exact List.all_eq_false.mpr ⟨c, (suffix_of_endsAs h).mem hc, hblank⟩

/-- Where the pieces are the last ones, the components are. -/
theorem under_of_endsAs (hbase : split base = .ok above) (habove : above ≠ [])
    (hdn : split dn = .ok pairs) (h : EndsAs base dn) : Under above pairs := by
  have hblank := not_blank_of_endsAs h (not_blank_of_split hbase habove)
  have hpairs : pairs ≠ [] := ne_nil_of_split hdn hblank
  have hcomponents := h.map component?
  rw [map_component?_loweredPieces hbase habove, map_component?_loweredPieces hdn hpairs,
    List.suffix_map_iff_of_injective fun _ _ => Option.some.inj] at hcomponents
  exact hcomponents

/-- The pieces of a name without blanks inside are the texts of its components. -/
theorem loweredPieces_of_tight (h : Tight dn pairs) (hdn : split dn = .ok pairs)
    (hpairs : pairs ≠ []) : loweredPieces (trim dn) = (pairs.map lowered).map pairText := by
  rw [loweredPieces, h, splitOn_joinWith (clean_of_split hdn) hpairs, List.map_map, List.map_map]
  exact List.map_congr_left fun pair _ => asciiLower_pairText pair

/-- Where no blanks stand within the names, the pieces are the last ones if the components are. -/
theorem endsAs_of_tight (hbase : split base = .ok above) (hdn : split dn = .ok pairs)
    (habove : above ≠ []) (htightBase : Tight base above) (htight : Tight dn pairs)
    (h : Under above pairs) : EndsAs (trim base) (trim dn) := by
  have hpairs : pairs ≠ [] := by
    rintro rfl
    exact habove (List.map_eq_nil_iff.mp (List.suffix_nil.mp h))
  rw [EndsAs, loweredPieces_of_tight htightBase hbase habove,
    loweredPieces_of_tight htight hdn hpairs]
  exact h.map pairText

end

end Dn

namespace LdapSettings

variable {settings : LdapSettings} {dn : Text}

/-! ## Qualifying -/

/-- A name ends with a base exactly when the pieces of the base are its last ones. -/
theorem endsWithBase_iff {base dn : Text} : endsWithBase base dn = true ↔ Dn.EndsAs base dn := by
  rw [Dn.endsAs_iff, endsWithBase, Bool.or_eq_true, agrees_iff, List.isSuffixOf_iff_suffix]

theorem qualify_of_endsAs (h : Dn.EndsAs (trim settings.baseDn) (trim dn)) :
    settings.qualify dn = trim dn :=
  if_pos (endsWithBase_iff.mpr h)

theorem qualify_of_not_endsAs (h : ¬ Dn.EndsAs (trim settings.baseDn) (trim dn)) :
    settings.qualify dn = Dn.below (trim settings.baseDn) (trim dn) :=
  if_neg (mt endsWithBase_iff.mp h)

/-- The name with the base put behind it. -/
def extended (settings : LdapSettings) (dn : Text) : Text :=
  if isAllBlank dn then trim settings.baseDn else trim dn ++ ',' :: trim settings.baseDn

theorem below_eq_extended (h : isAllBlank settings.baseDn = false) :
    Dn.below (trim settings.baseDn) (trim dn) = settings.extended dn := by
  have hempty {text : Text} : (trim text).isEmpty = isAllBlank text := by
    rw [Bool.eq_iff_iff, List.isEmpty_iff, isAllBlank_iff_trim_eq_nil]
  rw [Dn.below, extended, hempty, hempty, h]
  rfl

theorem extended_ne_trim (h : isAllBlank settings.baseDn = false) :
    settings.extended dn ≠ trim dn := by
  rw [extended]
  by_cases hblank : isAllBlank dn = true
  · rw [if_pos hblank, isAllBlank_iff_trim_eq_nil.mp hblank]
    intro hnil
    rw [isAllBlank_iff_trim_eq_nil.mpr hnil] at h
    exact nomatch h
  · rw [if_neg hblank]
    intro hsame
    exact absurd (List.append_right_eq_self.mp hsame) (List.cons_ne_nil _ _)

/-- **A name is qualified by its pieces.** -/
theorem qualify_eq (h : isAllBlank settings.baseDn = false) (dn : Text) :
    settings.qualify dn
      = if Dn.EndsAs (trim settings.baseDn) (trim dn) then trim dn else settings.extended dn := by
  split
  · next hends => exact qualify_of_endsAs hends
  · next hends => rw [qualify_of_not_endsAs hends, below_eq_extended h]

/-- A name is qualified by its components: it stays as it is if those of the base are its last
    ones, and otherwise the base is put behind it. -/
def FollowsComponents (settings : LdapSettings) (dn : Text) (above pairs : List (Text × Text)) :
    Prop :=
  settings.qualify dn = if Dn.Under above pairs then trim dn else settings.extended dn

instance (settings : LdapSettings) (dn : Text) (above pairs : List (Text × Text)) :
    Decidable (settings.FollowsComponents dn above pairs) :=
  inferInstanceAs (Decidable (_ = _))

section

variable {above pairs : List (Text × Text)}

/-- **When a name is qualified by its components.** Where the components of the base are the last
    ones of the name, its last pieces have to be those of the base as they are written, blanks
    included; nothing can go wrong where they are not. So it is qualified by its components
    whenever neither of the two has blanks within. -/
theorem qualify_follows_components_iff (hbase : Dn.split settings.baseDn = .ok above)
    (habove : above ≠ []) (hdn : Dn.split dn = .ok pairs) :
    (settings.qualify dn
        = if Dn.EndsAs (trim settings.baseDn) (trim dn) then trim dn else settings.extended dn) ∧
      (settings.FollowsComponents dn above pairs ↔
        (Dn.Under above pairs → Dn.EndsAs (trim settings.baseDn) (trim dn))) ∧
      (Dn.Tight settings.baseDn above → Dn.Tight dn pairs →
        settings.FollowsComponents dn above pairs) := by
  have hblank := Dn.not_blank_of_split hbase habove
  have hqualify := settings.qualify_eq hblank dn
  have hiff : settings.FollowsComponents dn above pairs ↔
      (Dn.Under above pairs → Dn.EndsAs (trim settings.baseDn) (trim dn)) := by
    rw [FollowsComponents, hqualify]
    by_cases hends : Dn.EndsAs (trim settings.baseDn) (trim dn)
    · have hunder := Dn.under_of_endsAs (Dn.split_trim hbase) habove (Dn.split_trim hdn) hends
      rw [if_pos hends, if_pos hunder]
      exact ⟨fun _ _ => hends, fun _ => rfl⟩
    · rw [if_neg hends]
      by_cases hunder : Dn.Under above pairs
      · rw [if_pos hunder]
        exact ⟨fun h => absurd h (extended_ne_trim hblank), fun h => absurd (h hunder) hends⟩
      · rw [if_neg hunder]
        exact ⟨fun _ h => absurd h hunder, fun _ => rfl⟩
  refine ⟨hqualify, hiff, fun htightBase htight => hiff.mpr fun hunder => ?_⟩
  exact Dn.endsAs_of_tight hbase hdn habove htightBase htight hunder

end

/-- A name below a base with a blank in front of its second component, which is written alike in
    both but for letter case. -/
theorem qualify_follows_components_blank :
    let settings := ofHost "ldap" " dc=example, dc=com" []
    let dn : Text := "ou=People,DC=Example, dc=com "
    let above : List (Text × Text) := [("dc", "example"), ("dc", "com")]
    let pairs : List (Text × Text) := [("ou", "People"), ("DC", "Example"), ("dc", "com")]
    Dn.split settings.baseDn = .ok above ∧ above ≠ [] ∧ Dn.split dn = .ok pairs ∧
      Dn.Under above pairs ∧ settings.FollowsComponents dn above pairs ∧
      settings.qualify dn = "ou=People,DC=Example, dc=com" := by
  intro settings dn above pairs
  have hbase : Dn.split settings.baseDn = .ok above := by decide
  have hdn : Dn.split dn = .ok pairs := by decide
  have hunder : Dn.Under above pairs := by decide
  obtain ⟨-, hfollows, -⟩ := qualify_follows_components_iff hbase (List.cons_ne_nil _ _) hdn
  have hends : Dn.EndsAs (trim settings.baseDn) (trim dn) := by decide
  refine ⟨hbase, List.cons_ne_nil _ _, hdn, hunder, hfollows.mpr fun _ => hends, ?_⟩
  exact qualify_of_endsAs hends

/-- With a blank behind a comma that the base does not have, a name below the base gets the base a
    second time. -/
theorem qualify_not_follows_components :
    let settings := ofHost "ldap" "dc=example,dc=com" []
    let dn : Text := "ou=People, dc=example,dc=com"
    let above : List (Text × Text) := [("dc", "example"), ("dc", "com")]
    let pairs : List (Text × Text) := [("ou", "People"), ("dc", "example"), ("dc", "com")]
    Dn.split settings.baseDn = .ok above ∧ Dn.split dn = .ok pairs ∧ Dn.Under above pairs ∧
      ¬ settings.FollowsComponents dn above pairs ∧
      settings.qualify dn = "ou=People, dc=example,dc=com,dc=example,dc=com" := by
  decide

/-! ## Qualifying again -/

/-- Nothing is put behind a name where the base is blank. -/
theorem qualify_of_blank (h : isAllBlank settings.baseDn = true) (dn : Text) :
    settings.qualify dn = trim dn := by
  by_cases hends : Dn.EndsAs (trim settings.baseDn) (trim dn)
  · exact qualify_of_endsAs hends
  · rw [qualify_of_not_endsAs hends, isAllBlank_iff_trim_eq_nil.mp h, Dn.below_nil]

/-- **The two outcomes.** A name is left alone where there is no base or where it ends with the
    base, and gets the base put behind it otherwise. -/
theorem qualify_cases (settings : LdapSettings) (dn : Text) :
    (settings.qualify dn = trim dn ∧ (isAllBlank settings.baseDn = true ∨
        Dn.EndsAs (trim settings.baseDn) (trim dn))) ∨
      (settings.qualify dn = settings.extended dn ∧ isAllBlank settings.baseDn = false) := by
  by_cases hblank : isAllBlank settings.baseDn = true
  · exact .inl ⟨qualify_of_blank hblank dn, .inl hblank⟩
  · have hbase := Bool.eq_false_iff.mpr hblank
    rw [qualify_eq hbase]
    split
    · next hends => exact .inl ⟨rfl, .inr hends⟩
    · exact .inr ⟨rfl, hbase⟩

theorem endsAs_extended (settings : LdapSettings) (dn : Text) :
    Dn.EndsAs (trim settings.baseDn) (settings.extended dn) := by
  rw [Dn.endsAs_iff, extended]
  by_cases hdn : isAllBlank dn = true
  · rw [if_pos hdn]
    exact .inl rfl
  · rw [if_neg hdn]
    refine .inr ⟨asciiLower (trim dn), ?_⟩
    rw [← (by decide : Caseless ',').asciiLower_cons]
    exact List.map_append.symm

theorem unpadded_extended (h : isAllBlank settings.baseDn = false) (dn : Text) :
    Unpadded (settings.extended dn) := by
  have hne {text : Text} (htext : ¬ isAllBlank text = true) : trim text ≠ [] :=
    mt isAllBlank_iff_trim_eq_nil.mpr htext
  rw [extended]
  by_cases hdn : isAllBlank dn = true
  · rw [if_pos hdn]
    exact unpadded_trim _
  · rw [if_neg hdn]
    have hbase := hne (Bool.eq_false_iff.mp h)
    exact (unpadded_trim dn).append (unpadded_trim settings.baseDn) (hne hdn) hbase [',']

theorem prefix_extended (settings : LdapSettings) (dn : Text) :
    trim dn <+: settings.extended dn := by
  rw [extended]
  by_cases hdn : isAllBlank dn = true
  · rw [isAllBlank_iff_trim_eq_nil.mp hdn]
    exact List.nil_prefix
  · rw [if_neg hdn]
    exact List.prefix_append _ _

/-- A qualified name ends with the base if there is one. -/
theorem endsAs_qualify (h : isAllBlank settings.baseDn = false) (dn : Text) :
    Dn.EndsAs (trim settings.baseDn) (settings.qualify dn) := by
  rcases settings.qualify_cases dn with ⟨hsame, hblank | hends⟩ | ⟨hextended, -⟩
  · rw [h] at hblank
    exact nomatch hblank
  · rw [hsame]
    exact hends
  · rw [hextended]
    exact settings.endsAs_extended dn

theorem unpadded_qualify (settings : LdapSettings) (dn : Text) :
    Unpadded (settings.qualify dn) := by
  rcases settings.qualify_cases dn with ⟨hsame, -⟩ | ⟨hextended, hbase⟩
  · rw [hsame]
    exact unpadded_trim dn
  · rw [hextended]
    exact unpadded_extended hbase dn

theorem prefix_qualify (settings : LdapSettings) (dn : Text) :
    trim dn <+: settings.qualify dn := by
  rcases settings.qualify_cases dn with ⟨hsame, -⟩ | ⟨hextended, -⟩
  · rw [hsame]
  · rw [hextended]
    exact settings.prefix_extended dn

/-- A qualified name is left alone: it is trimmed, and it ends with the base if there is one. -/
theorem qualify_qualify (settings : LdapSettings) (dn : Text) :
    settings.qualify (settings.qualify dn) = settings.qualify dn := by
  have htrim := trim_of_unpadded (settings.unpadded_qualify dn)
  by_cases h : isAllBlank settings.baseDn = true
  · rw [qualify_of_blank h, htrim]
  · have hends := endsAs_qualify (Bool.eq_false_iff.mpr h) dn
    rw [← htrim] at hends
    rw [qualify_of_endsAs hends, htrim]

/-- **Qualifying a second time changes nothing**, and what comes out is trimmed, starts with the
    name, and is the base or ends with a comma and the base where there is one. -/
theorem qualify_stays_below (settings : LdapSettings) (dn : Text) :
    settings.qualify (settings.qualify dn) = settings.qualify dn ∧
      Unpadded (settings.qualify dn) ∧ trim dn <+: settings.qualify dn ∧
      (isAllBlank settings.baseDn = false →
        asciiLower (settings.qualify dn) = asciiLower (trim settings.baseDn) ∨
          ',' :: asciiLower (trim settings.baseDn) <:+ asciiLower (settings.qualify dn)) :=
  ⟨settings.qualify_qualify dn, settings.unpadded_qualify dn, settings.prefix_qualify dn,
    fun h => Dn.endsAs_iff.mp (endsAs_qualify h dn)⟩

end LdapSettings

end DirectoryRecords
