import DirectoryRecords.Proofs.Operations

/-!
# Replacement — what a list of changes makes of an entry

    Attributes are replaced one by one: each change removes what has its name
    by then, earlier changes included, and stands at the end if it has values.
    The outcome can be written down at once. The old attributes that no change
    names stay in front, and of the changes those follow that have values and
    are the last of their name (`foldl_replaceAttribute`).

    The induction is on the changes, from the front, for any attributes: what
    the first change leaves behind passes the other changes exactly when none
    of them has its name. From the closed form it is plain that to make the
    same changes again changes nothing (`replacedAttributes_idem`).
-/

namespace DirectoryRecords.Directory

/-! ## The closed form -/

/-- The changes that no later change of the same name follows. -/
def lastOfName : List Attribute → List Attribute
  | [] => []
  | change :: rest =>
    if rest.any (Text.agrees change.name ·.name) then lastOfName rest
    else change :: lastOfName rest

/-- The attributes that none of the changes names. -/
def unnamed (changes attributes : List Attribute) : List Attribute :=
  attributes.filter fun a => !changes.any (Text.agrees a.name ·.name)

/-- The attributes after all changes: those that none of them names, and then the last change of
    each name, if it has values. -/
def replacedAttributes (changes attributes : List Attribute) : List Attribute :=
  unnamed changes attributes ++ (lastOfName changes).filter (!·.values.isEmpty)

theorem lastOfName_sublist (changes : List Attribute) :
    (lastOfName changes).Sublist changes := by
  induction changes with
  | nil => exact List.Sublist.slnil
  | cons change rest ih =>
      rw [lastOfName]
      by_cases hlater : rest.any (Text.agrees change.name ·.name) = true
      · rw [if_pos hlater]
        exact ih.cons change
      · rw [if_neg hlater]
        exact ih.cons_cons change

/-- What one change and then the others leave of the attributes is what all of them leave. -/
theorem unnamed_filter (change : Attribute) (rest attributes : List Attribute) :
    unnamed rest (attributes.filter fun a => !Text.agrees a.name change.name)
      = unnamed (change :: rest) attributes := by
  rw [unnamed, unnamed, List.filter_filter]
  refine List.filter_congr fun a _ => ?_
  rw [List.any_cons, Bool.not_or, Bool.and_comm]

/-- A change is among the last of their names if it passes the changes behind it. -/
theorem lastOfName_cons (change : Attribute) (rest : List Attribute) :
    lastOfName (change :: rest) = unnamed rest [change] ++ lastOfName rest := by
  rw [lastOfName, unnamed, List.filter_singleton]
  cases rest.any (Text.agrees change.name ·.name) with
  | true => rfl
  | false => rfl

/-- What one change adds and the others leave of it is the change, if it is the last of its name
    and has values. -/
theorem unnamed_change_append (change : Attribute) (rest : List Attribute) :
    unnamed rest (if change.values.isEmpty then [] else [change])
        ++ (lastOfName rest).filter (!·.values.isEmpty)
      = (lastOfName (change :: rest)).filter (!·.values.isEmpty) := by
  have hadded : (if change.values.isEmpty then [] else [change])
      = [change].filter (!·.values.isEmpty) := by
    rw [List.filter_singleton]
    cases change.values.isEmpty with
    | true => rfl
    | false => rfl
  rw [lastOfName_cons, List.filter_append, hadded, unnamed, unnamed, List.filter_filter,
    List.filter_filter]
  exact congrArg (· ++ _) (List.filter_congr fun _ _ => Bool.and_comm _ _)

/-- **The closed form of replacement.** Changes that are made one by one leave the attributes
    that none of them names and add the last change of each name, if it has values. -/
theorem foldl_replaceAttribute (changes attributes : List Attribute) :
    changes.foldl replaceAttribute attributes = replacedAttributes changes attributes := by
  induction changes generalizing attributes with
  | nil =>
      show attributes = unnamed [] attributes ++ []
      rw [List.append_nil]
      exact (List.filter_eq_self.mpr fun _ _ => rfl).symm
  | cons change rest ih =>
      -- What the first change kept and what it added pass the others apart from each other.
      rw [List.foldl_cons, ih, replaceAttribute, replacedAttributes, replacedAttributes,
        ← unnamed_change_append, ← unnamed_filter, ← List.append_assoc]
      exact congrArg (· ++ _) (List.filter_append _ _)

/-- To make the same changes again changes nothing. -/
theorem replacedAttributes_idem (changes attributes : List Attribute) :
    replacedAttributes changes (replacedAttributes changes attributes)
      = replacedAttributes changes attributes := by
  have hkept : unnamed changes (unnamed changes attributes) = unnamed changes attributes := by
    rw [unnamed, unnamed, List.filter_filter]
    exact List.filter_congr fun _ _ => Bool.and_self _
  have hadded : unnamed changes ((lastOfName changes).filter (!·.values.isEmpty)) = [] := by
    refine List.filter_eq_nil_iff.mpr fun a ha => ?_
    have hmem : a ∈ changes := (lastOfName_sublist changes).subset (List.mem_of_mem_filter ha)
    have hnamed : changes.any (Text.agrees a.name ·.name) = true :=
      List.any_eq_true.mpr ⟨a, hmem, Text.agrees_refl a.name⟩
    rw [hnamed]
    exact Bool.false_ne_true
  have happend : unnamed changes (replacedAttributes changes attributes)
      = unnamed changes (unnamed changes attributes)
        ++ unnamed changes ((lastOfName changes).filter (!·.values.isEmpty)) :=
    List.filter_append _ _
  rw [replacedAttributes, happend, hkept, hadded, List.append_nil, replacedAttributes]

/-! ## The entry of a name -/

variable {source : Directory} {dn : Text} {front back : List Entry} {entry : Entry}

/-- The entry that is changed is the first that agrees with the name. -/
theorem changeFirst_append (change : Entry → Entry)
    (hfront : ∀ other ∈ front, Text.agrees other.dn dn = false)
    (hentry : Text.agrees entry.dn dn = true) :
    changeFirst dn change (front ++ entry :: back) = some (front ++ change entry :: back) := by
  induction front with
  | nil => rw [List.nil_append, changeFirst, if_pos hentry, List.nil_append]
  | cons other front ih =>
      have hother := hfront other List.mem_cons_self
      have hrest := ih fun x hx => hfront x (List.mem_cons_of_mem other hx)
      rw [List.cons_append, changeFirst, hother, if_neg Bool.false_ne_true, hrest,
        Option.map_some, List.cons_append]

/-- A replacement changes the first entry of its name into the closed form, and nothing else
    but the log. -/
theorem modifyReplace_run (changes : List Attribute)
    (hsource : source.entries = front ++ entry :: back)
    (hfront : ∀ other ∈ front, Text.agrees other.dn dn = false)
    (hentry : Text.agrees entry.dn dn = true) :
    modifyReplace dn changes source
      = (.ok (), { source.log (.modifyReplace dn) with
          entries :=
            front ++ ⟨entry.dn, replacedAttributes changes entry.attributes⟩ :: back }) := by
  rw [modifyReplace, write, modified, hsource, changeFirst_append _ hfront hentry,
    replaceAttributes, foldl_replaceAttribute]

/-- Where the first entry of a name has the closed form, the replacement leaves nothing changed
    but the log. -/
theorem modifyReplace_again (changes : List Attribute)
    (hsource : source.entries
      = front ++ ⟨entry.dn, replacedAttributes changes entry.attributes⟩ :: back)
    (hfront : ∀ other ∈ front, Text.agrees other.dn dn = false)
    (hentry : Text.agrees entry.dn dn = true) :
    modifyReplace dn changes source = (.ok (), source.log (.modifyReplace dn)) := by
  rw [modifyReplace_run changes hsource hfront hentry, replacedAttributes_idem, ← hsource]
  rfl

/-- **Replacement.** Where a directory has an entry of a name, replacing attributes succeeds. The
    first entry of the name keeps its name and gets the attributes of the closed form, and all
    other entries stay as and where they are. The same replacement once more succeeds and leaves
    nothing changed but the log. -/
theorem modifyReplace_closed_form (changes : List Attribute)
    (h : ∃ entry ∈ source.entries, Text.agrees entry.dn dn = true) :
    ∃ (front : List Entry) (entry : Entry) (back : List Entry) (after : Directory),
      source.entries = front ++ entry :: back ∧
      (∀ other ∈ front, Text.agrees other.dn dn = false) ∧
      Text.agrees entry.dn dn = true ∧
      modifyReplace dn changes source = (.ok (), after) ∧
      after.entries = front ++ ⟨entry.dn, replacedAttributes changes entry.attributes⟩ :: back ∧
      modifyReplace dn changes after = (.ok (), after.log (.modifyReplace dn)) := by
  obtain ⟨entry, hfind⟩ := Option.isSome_iff_exists.mp (List.find?_isSome.mpr h)
  obtain ⟨hentry, front, back, hsource, hbefore⟩ := List.find?_eq_some_iff_append.mp hfind
  have hfront : ∀ other ∈ front, Text.agrees other.dn dn = false := by
    intro other hother
    exact (Bool.not_eq_true' _).mp (hbefore other hother)
  refine ⟨front, entry, back, _, hsource, hfront, hentry,
    modifyReplace_run changes hsource hfront hentry, rfl, ?_⟩
  exact modifyReplace_again changes rfl hfront hentry

/-- Two entries have the name in different letter case. Of the changes for the first one, one
    takes back what another adds, and one adds what another removes. -/
theorem modifyReplace_closed_form_of_namesakes :
    let bob : Entry := ⟨"uid=bob,dc=x", [⟨"sn", ["Lee"]⟩]⟩
    let ann : Entry :=
      ⟨"uid=ann,dc=x", [⟨"SN", ["Lee"]⟩, ⟨"uid", ["ann"]⟩, ⟨"mail", ["a@x"]⟩, ⟨"sn", ["Roe"]⟩]⟩
    let namesake : Entry := ⟨"UID=ann,dc=x", [⟨"sn", ["Abe"]⟩]⟩
    let changes : List Attribute :=
      [⟨"cn", ["Ann"]⟩, ⟨"Mail", []⟩, ⟨"sn", ["Kay"]⟩, ⟨"CN", []⟩, ⟨"MAIL", ["b@x", "c@x"]⟩]
    let source := { ofIdentity "memory://people" with entries := [bob, ann, namesake] }
    let dn : Text := "UID=ANN,dc=x"
    (∃ entry ∈ source.entries, Text.agrees entry.dn dn = true) ∧
      ∃ after, modifyReplace dn changes source = (.ok (), after) ∧
        after.entries = [bob, ⟨ann.dn, [⟨"uid", ["ann"]⟩, ⟨"sn", ["Kay"]⟩,
          ⟨"MAIL", ["b@x", "c@x"]⟩]⟩, namesake] ∧
        modifyReplace dn changes after = (.ok (), after.log (.modifyReplace dn)) := by
  intro bob ann namesake changes source dn
  have hsome : ∃ entry ∈ source.entries, Text.agrees entry.dn dn = true := by decide
  obtain ⟨_, _, _, after, -, -, -, hrun, -, hagain⟩ := modifyReplace_closed_form changes hsome
  have hafter : (modifyReplace dn changes source).2 = after := congrArg Prod.snd hrun
  refine ⟨hsome, after, hrun, ?_, hagain⟩
  rw [← hafter]
  decide

end DirectoryRecords.Directory
